import Mathlib.Data.Rat.Cast.Order
import Mathlib.Tactic.FieldSimp
import VeiledPool.Proofs.Fault.Sequence
import VeiledPool.Proofs.Text.Row
import VeiledPool.Proofs.Text.Trim
import VeiledPool.Request.Ratio

/-! # Literals

A literal is two rows of decimal digits with a point between them, or the first row
alone, with blanks around it. Exactly the literals are read, and what is read is the
number that the rows denote, whatever the length of the first one.
-/

namespace VeiledPool.Fixed

open Text

variable {text body whole fraction : List Char}

/-- How two rows are spelled: a point may be left out if nothing follows it, and at least one
    of the rows has to be there. -/
inductive Spells : List Char → List Char → List Char → Prop where
  | plain {whole : List Char} (written : whole ≠ []) : Spells whole whole []
  | pointed {whole fraction : List Char} (written : whole ++ fraction ≠ []) :
    Spells (whole ++ '.' :: fraction) whole fraction

structure Literal (text whole fraction : List Char) : Prop where
  spelled : ∃ body, Bare text body ∧ Spells body whole fraction
  digits : ∀ c ∈ whole ++ fraction, isDecimalDigit c = true
  short : fraction.length ≤ places

def atomsOf (whole fraction : List Char) : Nat :=
  rowValue whole * 10 ^ places + rowValue fraction * 10 ^ (places - fraction.length)

def Denotes (text : String) (ratio : Fixed) : Prop :=
  ∃ whole fraction, Literal text.toList whole fraction ∧ ratio.atomics = atomsOf whole fraction

theorem Spells.split (spelled : Spells body whole fraction) (noPoint : '.' ∉ whole) :
    (body ≠ [] ∧ body ≠ ['.']) ∧ body.takeWhile (· != '.') = whole ∧
      (body.dropWhile (· != '.')).drop 1 = fraction := by
  have passed : ∀ c ∈ whole, (c != '.') = true := by
    intro c inside
    rw [bne_iff_ne]
    rintro rfl
    exact noPoint inside
  cases spelled with
  | plain written =>
    refine ⟨⟨written, ?_⟩, List.takeWhile_eq_self_iff.2 passed, ?_⟩
    · rintro rfl
      simp at noPoint
    · rw [List.dropWhile_eq_nil_iff.2 passed]
      rfl
  | pointed written =>
    refine ⟨⟨by simp, ?_⟩, ?_, ?_⟩
    · intro alone
      cases whole with
      | nil => simp_all
      | cons c rest => simp at alone
    · rw [List.takeWhile_append_of_pos passed]
      simp
    · rw [List.dropWhile_append_of_pos passed]
      simp

theorem spells_split (written : body ≠ [] ∧ body ≠ ['.']) :
    Spells body (body.takeWhile (· != '.')) ((body.dropWhile (· != '.')).drop 1) := by
  have joined : body.takeWhile (· != '.') ++ body.dropWhile (· != '.') = body :=
    List.takeWhile_append_dropWhile
  have head := List.head?_dropWhile_not (· != '.') body
  cases rest : body.dropWhile (· != '.') with
  | nil =>
    rw [rest, List.append_nil] at joined
    rw [joined]
    exact .plain written.1
  | cons c behind =>
    rw [rest] at joined head
    obtain rfl : c = '.' := by simpa using head
    have pointed : Spells (body.takeWhile (· != '.') ++ '.' :: behind)
        (body.takeWhile (· != '.')) behind := by
      refine .pointed fun nothing => written.2 ?_
      obtain ⟨first, second⟩ := List.append_eq_nil_iff.1 nothing
      rw [← joined, first, second]
      rfl
    rwa [joined] at pointed

theorem atomicsOf?_eq_some_iff {atomics : Nat} :
    atomicsOf? whole fraction = some atomics ↔
      (∀ c ∈ whole ++ fraction, isDecimalDigit c = true) ∧ atomics = atomsOf whole fraction := by
  have zero : isDecimalDigit '0' = true := by decide
  have digits : (∀ c ∈ fraction ++ List.replicate (places - fraction.length) '0',
      isDecimalDigit c = true) ↔ ∀ c ∈ fraction, isDecimalDigit c = true := by
    simp +contextual [or_imp, List.mem_replicate, zero]
  simp only [atomicsOf?, Option.bind_eq_bind, Option.bind_eq_some_iff, Option.pure_def,
    Option.some.injEq, positionalValue?_eq_some_iff, digits, rowValue_append_zeros, atomsOf,
    unit]
  constructor
  · rintro ⟨_, ⟨first, rfl⟩, _, ⟨second, rfl⟩, rfl⟩
    exact ⟨List.forall_mem_append.2 ⟨first, second⟩, rfl⟩
  · rintro ⟨both, rfl⟩
    obtain ⟨first, second⟩ := List.forall_mem_append.1 both
    exact ⟨_, ⟨first, rfl⟩, _, ⟨second, rfl⟩, rfl⟩

theorem ofText_eq_ok_iff {text : String} {ratio : Fixed} :
    ofText text = .ok ratio ↔ Denotes text ratio := by
  constructor
  · intro read
    simp only [ofText] at read
    split at read
    case isTrue => cases read
    case isFalse written =>
    split at read
    case isTrue => cases read
    case isFalse =>
    split at read
    case isTrue => cases read
    case isFalse short =>
    split at read
    case h_2 => cases read
    case h_1 atomics found =>
      cases read
      obtain ⟨digits, rfl⟩ := atomicsOf?_eq_some_iff.1 found
      exact ⟨_, _, ⟨⟨_, bare_trimBlanks _, spells_split (not_or.1 written)⟩, digits,
        Nat.not_lt.1 short⟩, rfl⟩
  · rintro ⟨whole, fraction, ⟨⟨body, bare, spelled⟩, digits, short⟩, value⟩
    obtain rfl := bare_iff.1 bare
    -- A point is no digit, so the first point stands between the rows.
    have noPoint : '.' ∉ whole := by
      intro inside
      have digit := digits '.' (List.mem_append_left _ inside)
      revert digit
      decide
    obtain ⟨written, first, second⟩ := spelled.split noPoint
    have any : (whole ++ fraction).all isAnyDigit = true := by
      rw [List.all_eq_true]
      intro c inside
      simp [isAnyDigit, digits c inside]
    have found : atomicsOf? whole fraction = some ratio.atomics :=
      atomicsOf?_eq_some_iff.2 ⟨digits, value⟩
    simp only [ofText, first, second, any, found, written, Nat.not_lt.2 short]
    rfl

theorem ofText_failsOnly (text : String) :
    FailsOnly (∃ cause, · = Fault.badValue cause) (ofText text) := by
  simp only [ofText]
  split
  · exact failsOnly_error ⟨_, rfl⟩
  split
  · exact failsOnly_error ⟨_, rfl⟩
  split
  · exact failsOnly_error ⟨_, rfl⟩
  split
  · exact failsOnly_ok _
  · exact failsOnly_error ⟨_, rfl⟩

theorem atomsOf_div (short : fraction.length ≤ places) :
    (atomsOf whole fraction : ℚ) / 10 ^ places =
      rowValue whole + rowValue fraction / 10 ^ fraction.length := by
  have split : (10 : ℚ) ^ places = 10 ^ (places - fraction.length) * 10 ^ fraction.length := by
    rw [← pow_add, Nat.sub_add_cancel short]
  rw [atomsOf]
  push_cast
  rw [split]
  field_simp

/-- The literals are read and nothing else is. A literal is read as exactly the number that its
    rows denote, and everything else is refused as a bad value. -/
theorem literals_are_exact :
    (∀ text ratio, ofText text = .ok ratio ↔ Denotes text ratio) ∧
    (∀ text, (¬ ∃ ratio, Denotes text ratio) ↔
      ∃ cause, ofText text = .error (.badValue cause)) ∧
    (∀ text whole fraction, Literal text.toList whole fraction →
      ∃ ratio, ofText text = .ok ratio ∧
        (ratio.atomics : ℚ) / 10 ^ 18 =
          rowValue whole + rowValue fraction / 10 ^ fraction.length) ∧
    ∀ points, ofPoints? points = none →
      ∃ cause, (RatioForm.literal (.text (.ofPoints points))).value = .error (.badValue cause) := by
  refine ⟨fun _ _ => ofText_eq_ok_iff, ?refused, ?exact, ?broken⟩
  case refused =>
    intro text
    cases read : ofText text with
    | ok ratio => simpa using ⟨ratio, ofText_eq_ok_iff.1 read⟩
    | error fault =>
      obtain ⟨cause, rfl⟩ := ofText_failsOnly text fault read
      have unread : ¬ ∃ ratio, Denotes text ratio := by
        rintro ⟨ratio, denotes⟩
        cases read.symm.trans (ofText_eq_ok_iff.2 denotes)
      simp [unread]
  case exact =>
    intro text whole fraction literal
    refine ⟨⟨atomsOf whole fraction⟩, ofText_eq_ok_iff.2 ⟨whole, fraction, literal, rfl⟩, ?_⟩
    exact atomsOf_div literal.short
  case broken =>
    intro points unspelled
    exact ⟨_, by rw [Spelling.ofPoints_of_unspelled unspelled, RatioForm.value]⟩

/-- Three and a half, in two scripts and with zeros at both ends. -/
theorem literals_are_exact_sample :
    Literal " 00३.50\n".toList "00३".toList "50".toList ∧
      (∃ ratio, ofText " 00३.50\n" = .ok ratio ∧
        (ratio.atomics : ℚ) / 10 ^ 18 = (3 : Nat) + (50 : Nat) / 10 ^ 2) ∧
      ofPoints? [0x31, 0xd800] = none ∧
      ∃ cause, (RatioForm.literal (.text (.ofPoints [0x31, 0xd800]))).value =
        .error (.badValue cause) := by
  obtain ⟨-, -, exactly, broken⟩ := literals_are_exact
  have spelled : Spells ("00३".toList ++ '.' :: "50".toList) "00३".toList "50".toList :=
    .pointed (by decide)
  have digits : ("00३".toList ++ "50".toList).all isDecimalDigit = true := by decide
  have literal : Literal " 00३.50\n".toList "00३".toList "50".toList :=
    ⟨⟨_, bare_iff.2 (by decide), spelled⟩, List.all_eq_true.1 digits, by decide⟩
  have whole : rowValue "00३".toList = 3 := by decide
  have fraction : rowValue "50".toList = 50 := by decide
  refine ⟨literal, ?_, by decide, broken _ (by decide)⟩
  obtain ⟨ratio, read, value⟩ := exactly _ _ _ literal
  rw [whole, fraction] at value
  exact ⟨ratio, read, value⟩

end VeiledPool.Fixed
