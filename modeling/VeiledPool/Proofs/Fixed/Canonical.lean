import VeiledPool.Proofs.Fault.Legible
import VeiledPool.Proofs.Fixed.Literal
import VeiledPool.Proofs.Fixed.Natural
import VeiledPool.Proofs.Text.Numeral

/-! # Canonical texts

A ratio is written in plain digits without superfluous zeros, and with a point only if
something follows it. Every ratio has one such text, which is read back as the ratio, so
that reading a literal and writing it again picks one text for each number. Only a ratio
whose whole part is too long is not written at all.
-/

namespace VeiledPool.Fixed

open Text

variable {whole fraction : List Char} {ratio : Fixed}

/-- Two rows of plain digits without superfluous zeros. -/
structure Minimal (whole fraction : List Char) : Prop where
  plain : Plain (whole ++ fraction)
  written : whole ≠ []
  leads : whole.head? = some '0' → whole = ['0']
  short : fraction.length ≤ places
  trails : '0' ∉ fraction.getLast?

/-- Two rows with a point between them, or the first row alone if the second is empty. -/
def joined (whole fraction : List Char) : List Char :=
  if fraction = [] then whole else whole ++ '.' :: fraction

def Canonical (text : String) : Prop :=
  ∃ whole fraction, Minimal whole fraction ∧ text.toList = joined whole fraction

/-! ## Canonical texts are literals -/

theorem mem_joined {c : Char} (inside : c ∈ joined whole fraction) :
    c ∈ whole ++ fraction ∨ c = '.' := by
  unfold joined at inside
  split at inside
  · exact .inl (List.mem_append_left _ inside)
  · simp at inside ⊢
    tauto

theorem spells_joined (written : whole ≠ []) : Spells (joined whole fraction) whole fraction := by
  unfold joined
  split
  case isTrue empty =>
    subst empty
    exact .plain written
  case isFalse => exact .pointed (by simp [written])

theorem Minimal.literal (minimal : Minimal whole fraction) :
    Literal (joined whole fraction) whole fraction where
  spelled := by
    refine ⟨_, bare_self fun c inside => ?_, spells_joined minimal.written⟩
    rcases mem_joined inside with digit | rfl
    · exact not_isBlank_of_isDigit (minimal.plain c digit)
    · decide
  digits c inside := isDecimalDigit_of_isDigit (minimal.plain c inside)
  short := minimal.short

/-! ## Rows of a ratio -/

def wholeRow (ratio : Fixed) : List Char :=
  Nat.toDigits 10 (ratio.atomics / unit)

def fractionRow (ratio : Fixed) : List Char :=
  trimEnd '0' (paddedDigits 10 places (ratio.atomics % unit))

theorem exists_paddedDigits_eq (ratio : Fixed) :
    ∃ count, paddedDigits 10 places (ratio.atomics % unit) =
      ratio.fractionRow ++ List.replicate count '0' :=
  exists_eq_trimEnd_append '0' _

theorem minimal_rows (ratio : Fixed) : Minimal ratio.wholeRow ratio.fractionRow := by
  obtain ⟨count, padded⟩ := ratio.exists_paddedDigits_eq
  have plain := plain_paddedDigits places (ratio.atomics % unit)
  have length := length_paddedDigits 10 places (ratio.atomics % unit)
  rw [padded] at plain length
  exact {
    plain := plain_append.2 ⟨plain_toDigits _, (plain_append.1 plain).1⟩
    written := Nat.toDigits_ne_nil
    leads := toDigits_of_head_zero
    short := by rw [List.length_append] at length; omega
    trails := not_mem_getLast?_trimEnd '0' _ }

theorem atomsOf_rows (ratio : Fixed) :
    atomsOf ratio.wholeRow ratio.fractionRow = ratio.atomics := by
  obtain ⟨count, padded⟩ := ratio.exists_paddedDigits_eq
  have length := length_paddedDigits 10 places (ratio.atomics % unit)
  have value := rowValue_paddedDigits places (ratio.atomics % unit)
  rw [padded, List.length_append, List.length_replicate] at length
  rw [padded, rowValue_append_zeros] at value
  have missing : places - ratio.fractionRow.length = count := by omega
  have whole : rowValue ratio.wholeRow = ratio.atomics / unit := rowValue_toDigits _
  calc atomsOf ratio.wholeRow ratio.fractionRow
      = ratio.atomics / unit * unit + ratio.atomics % unit % unit := by
        rw [atomsOf, whole, missing, value]
        rfl
    _ = ratio.atomics := by rw [Nat.mod_mod, Nat.div_add_mod']

theorem Minimal.rows (minimal : Minimal whole fraction)
    (value : ratio.atomics = atomsOf whole fraction) :
    ratio.wholeRow = whole ∧ ratio.fractionRow = fraction := by
  obtain ⟨plainWhole, plainFraction⟩ := plain_append.1 minimal.plain
  -- In the atoms the fraction has all its places, so the two rows overlap nowhere.
  set filled := fraction ++ List.replicate (places - fraction.length) '0' with filling
  have plain : Plain filled := plain_append.2 ⟨plainFraction, plain_replicate_zero _⟩
  have length : filled.length = places := by
    rw [filling, List.length_append, List.length_replicate, Nat.add_sub_cancel' minimal.short]
  have below : rowValue filled < unit := by
    have bound := rowValue_lt filled
    rwa [length] at bound
  have atoms : ratio.atomics = rowValue filled + rowValue whole * unit := by
    rw [value, atomsOf, filling, rowValue_append_zeros, Nat.add_comm]
    rfl
  have quotient : ratio.atomics / unit = rowValue whole := by
    rw [atoms, Nat.add_mul_div_right _ _ unit_pos, Nat.div_eq_of_lt below, Nat.zero_add]
  have remainder : ratio.atomics % unit = rowValue filled := by
    rw [atoms, Nat.add_mul_mod_self_right, Nat.mod_eq_of_lt below]
  constructor
  · rw [wholeRow, quotient]
    exact toDigits_rowValue plainWhole minimal.written minimal.leads
  · rw [fractionRow, remainder, ← length, paddedDigits_rowValue plain]
    exact trimEnd_append_replicate minimal.trails _

theorem fractionRow_eq_nil_iff : ratio.fractionRow = [] ↔ ratio.atomics % unit = 0 := by
  constructor
  · intro empty
    obtain ⟨count, padded⟩ := ratio.exists_paddedDigits_eq
    have value := rowValue_paddedDigits places (ratio.atomics % unit)
    rw [padded, empty, rowValue_append_zeros, rowValue_nil, Nat.zero_mul] at value
    rw [← Nat.mod_mod]
    exact value.symm
  · intro zero
    rw [fractionRow, zero]
    decide

theorem chars_eq (ratio : Fixed) : ratio.chars = joined ratio.wholeRow ratio.fractionRow := by
  unfold chars fractionText joined
  simp only [fractionRow_eq_nil_iff]
  split
  case isTrue => exact List.append_nil _
  case isFalse => rfl

theorem toList_numeral (ratio : Fixed) :
    ratio.numeral.toList = joined ratio.wholeRow ratio.fractionRow := by
  rw [numeral, String.toList_ofList, chars_eq]

/-! ## One text for each ratio -/

theorem canonical_numeral (ratio : Fixed) : Canonical ratio.numeral :=
  ⟨_, _, ratio.minimal_rows, ratio.toList_numeral⟩

theorem denotes_numeral (ratio : Fixed) : Denotes ratio.numeral ratio := by
  refine ⟨_, _, ?_, ratio.atomsOf_rows.symm⟩
  rw [toList_numeral]
  exact ratio.minimal_rows.literal

theorem ofText_numeral (ratio : Fixed) : ofText ratio.numeral = .ok ratio :=
  ofText_eq_ok_iff.2 ratio.denotes_numeral

theorem numeral_injective : Function.Injective numeral := by
  intro ratio other same
  have read := ofText_numeral ratio
  rw [same, ofText_numeral other] at read
  cases read
  rfl

theorem Canonical.exists_numeral_eq {text : String} (canonical : Canonical text) :
    ∃ ratio : Fixed, ratio.numeral = text := by
  obtain ⟨whole, fraction, minimal, spelled⟩ := canonical
  have value : Fixed.atomics ⟨atomsOf whole fraction⟩ = atomsOf whole fraction := rfl
  obtain ⟨first, second⟩ := minimal.rows value
  refine ⟨⟨atomsOf whole fraction⟩, String.toList_inj.1 ?_⟩
  rw [toList_numeral, first, second, spelled]

theorem canonical_iff {text : String} (read : ofText text = .ok ratio) :
    Canonical text ↔ ratio.numeral = text := by
  constructor
  · intro canonical
    obtain ⟨written, rfl⟩ := canonical.exists_numeral_eq
    cases read.symm.trans written.ofText_numeral
    rfl
  · rintro rfl
    exact canonical_numeral ratio

theorem toNat_lt_of_mem_numeral {c : Char} (inside : c ∈ ratio.numeral.toList) : c.toNat < 128 := by
  rw [toList_numeral] at inside
  rcases mem_joined inside with digit | rfl
  · have plain := ratio.minimal_rows.plain c digit
    have range : 48 ≤ c.toNat ∧ c.toNat ≤ 57 := Char.isDigit_iff_toNat.1 plain
    omega
  · decide

/-! ## Texts -/

theorem text_of_legible (legible : Legible ratio.whole) : ratio.text = .ok ratio.numeral :=
  written_of_not_illegible (by simpa using legible) _

theorem text_of_illegible (long : ¬ Legible ratio.whole) :
    ratio.text = .error (.badValue .illegible) :=
  written_of_illegible (by simpa using long) _

/-- What can be written is read back, and it is the one canonical text of its number. Reading a
    literal and writing it again is therefore a normal form, which canonical texts are in. A ratio
    whose whole part is too long to be written out has no text. -/
theorem texts_are_canonical :
    ((∀ ratio : Fixed, ¬ Legible ratio.whole → ratio.text = .error (.badValue .illegible)) ∧
      (∀ ratio : Fixed, Legible ratio.whole → ∃ text, ratio.text = .ok text ∧
        ofText text = .ok ratio ∧ Canonical text ∧ ∀ c ∈ text.toList, c.toNat < 128) ∧
      ∀ ratio other : Fixed, Legible ratio.whole → ratio.text = other.text → ratio = other) ∧
    (∀ text, Canonical text → ∃ ratio, ofText text = .ok ratio ∧
      (Legible ratio.whole → ratio.text = .ok text)) ∧
    (∀ text ratio, ofText text = .ok ratio → Legible ratio.whole →
      (∀ other, Canonical other ∧ Denotes other ratio ↔ ratio.text = .ok other) ∧
      (ratio.text = .ok text ↔ Canonical text)) ∧
    ∀ text other ratio second, ofText text = .ok ratio → ofText other = .ok second →
      Legible ratio.whole → (ofText text = ofText other ↔ ratio.text = second.text) := by
  have injective (ratio other : Fixed) (legible : Legible ratio.whole)
      (same : ratio.text = other.text) : ratio = other := by
    rw [text_of_legible legible] at same
    by_cases alike : Legible other.whole
    · rw [text_of_legible alike, Except.ok.injEq] at same
      exact numeral_injective same
    · rw [text_of_illegible alike] at same
      cases same
  refine ⟨⟨fun _ => text_of_illegible, ?written, injective⟩, ?canonical, ?unique, ?compared⟩
  case written =>
    intro ratio legible
    exact ⟨ratio.numeral, text_of_legible legible, ofText_numeral ratio, canonical_numeral ratio,
      fun _ => toNat_lt_of_mem_numeral⟩
  case canonical =>
    intro text canonical
    obtain ⟨ratio, rfl⟩ := canonical.exists_numeral_eq
    exact ⟨ratio, ofText_numeral ratio, text_of_legible⟩
  case unique =>
    intro text ratio read legible
    simp only [text_of_legible legible, Except.ok.injEq]
    refine ⟨fun other => ⟨?_, ?_⟩, (canonical_iff read).symm⟩
    · rintro ⟨canonical, denotes⟩
      exact (canonical_iff (ofText_eq_ok_iff.2 denotes)).1 canonical
    · rintro rfl
      exact ⟨canonical_numeral ratio, denotes_numeral ratio⟩
  case compared =>
    intro text other ratio second read again legible
    rw [read, again, Except.ok.injEq]
    exact ⟨congrArg Fixed.text, injective ratio second legible⟩

/-- Seven and a twentieth with zeros around it, and one atom. -/
theorem texts_are_canonical_sample :
    ofText " 007.0500 " = .ok ⟨7050000000000000000⟩ ∧
      ofText "0.000000000000000001" = .ok ⟨1⟩ ∧
      Legible (Fixed.whole ⟨7050000000000000000⟩) ∧
      Fixed.text ⟨7050000000000000000⟩ = .ok "7.05" ∧ ¬ Canonical " 007.0500 " ∧
      (ofText " 007.0500 " = ofText "0.000000000000000001" ↔
        Fixed.text ⟨7050000000000000000⟩ = Fixed.text ⟨1⟩) := by
  obtain ⟨-, -, unique, compared⟩ := texts_are_canonical
  have padded : ofText " 007.0500 " = .ok ⟨7050000000000000000⟩ := by rfl
  have atom : ofText "0.000000000000000001" = .ok ⟨1⟩ := by rfl
  have legible : Legible (Fixed.whole ⟨7050000000000000000⟩) := by decide +kernel
  have text : Fixed.text ⟨7050000000000000000⟩ = .ok "7.05" := by decide +kernel
  refine ⟨padded, atom, legible, text, ?_, compared _ _ _ _ padded atom legible⟩
  rw [← (unique _ _ padded legible).2, text]
  decide

/-- A ratio of 4301 digits before the point is not written at all. -/
theorem illegible_text :
    Fixed.text ⟨10 ^ 4318⟩ = .error (.badValue .illegible) ∧
      ¬ ∃ text, Fixed.text ⟨10 ^ 4318⟩ = .ok text ∧ ofText text = .ok ⟨10 ^ 4318⟩ := by
  have refused : Fixed.text ⟨10 ^ 4318⟩ = .error (.badValue .illegible) := by decide +kernel
  refine ⟨refused, ?_⟩
  rintro ⟨text, shown, -⟩
  cases refused.symm.trans shown

end VeiledPool.Fixed
