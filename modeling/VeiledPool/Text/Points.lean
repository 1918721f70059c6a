import VeiledPool.Text.Written

/-! # Code points

Escapes name code points, and not every code point is a character: the halves of
surrogate pairs are none. Points that are all characters spell a text. Others
have no bytes, but they can be kept, compared, put in order and shown in quotes,
where what cannot stand for itself is written by code. A `Spelling` is either.
-/

namespace VeiledPool.Text

/-- The character at a code point, if there is one. -/
def char? (point : Nat) : Option Char :=
  if point.isValidChar then some (Char.ofNat point) else none

def points (text : String) : List Nat :=
  text.toList.map Char.toNat

/-- The text that some code points spell, if all of them are characters. -/
def ofPoints? (points : List Nat) : Option String :=
  (points.mapM char?).map String.ofList

/-- Written form of one code point between the given quotation marks. -/
def escapedPoint (mark : Char) (point : Nat) : List Char :=
  match char? point with
  | some c => escaped mark c
  | none => '\\' :: 'u' :: paddedDigits 16 4 point

/-- Code points in quotation marks. -/
def quotedPoints (points : List Nat) : String :=
  let mark := quoteMark (points.filterMap char?)
  String.ofList (mark :: points.flatMap (escapedPoint mark) ++ [mark])

/-- The first code points in a row that are no characters, and their place. -/
def firstBroken (points : List Nat) : Nat × List Nat :=
  let whole := points.takeWhile fun point => (char? point).isSome
  (whole.length, (points.drop whole.length).takeWhile fun point => (char? point).isNone)

@[simp]
theorem char?_toNat (c : Char) : char? c.toNat = some c := by
  have valid : c.toNat.isValidChar := c.valid
  simp [char?, valid]

/-- A text is what its code points spell. -/
@[simp]
theorem ofPoints?_points (text : String) : ofPoints? (points text) = some text := by
  have spelled (chars : List Char) : (chars.map Char.toNat).mapM char? = some chars := by
    induction chars with
    | nil => rfl
    | cons c rest ih => simp [ih]
  simp [ofPoints?, points, spelled]

theorem toNat_of_char? {point : Nat} {c : Char} (read : char? point = some c) : c.toNat = point := by
  rw [char?] at read
  split at read
  · rename_i valid
    cases read
    rw [Char.ofNat, dif_pos valid]
    rfl
  · cases read

/-- What is spelled has the code points that it was spelled from. -/
theorem points_of_ofPoints? {codes : List Nat} {text : String} (spelled : ofPoints? codes = some text) :
    points text = codes := by
  have kept (codes : List Nat) (chars : List Char) (read : codes.mapM char? = some chars) :
      chars.map Char.toNat = codes := by
    induction codes generalizing chars with
    | nil =>
      cases read
      rfl
    | cons point rest ih =>
      simp only [List.mapM_cons, Option.bind_eq_bind, Option.bind_eq_some_iff, Option.pure_def,
        Option.some.injEq] at read
      obtain ⟨c, here, others, later, rfl⟩ := read
      rw [List.map_cons, ih others later]
      rw [toNat_of_char? here]
  obtain ⟨chars, read, rfl⟩ := Option.map_eq_some_iff.1 spelled
  rw [points, String.toList_ofList, kept codes chars read]

end VeiledPool.Text

namespace VeiledPool

/-- A row of code points: a text, or a row of which some points are no characters. -/
inductive Spelling where
  | text (value : String)
  | broken (codes : List Nat) (unspelled : Text.ofPoints? codes = none)
  deriving DecidableEq, Repr

namespace Spelling

instance : Coe String Spelling := ⟨text⟩

instance : Inhabited Spelling := ⟨text ""⟩

def ofPoints (codes : List Nat) : Spelling :=
  match spelled : Text.ofPoints? codes with
  | some value => text value
  | none => broken codes spelled

def points : Spelling → List Nat
  | text value => Text.points value
  | broken codes _ => codes

/-- One spelling followed by another; two halves that meet stay two points. -/
def append (a b : Spelling) : Spelling :=
  match a, b with
  | text first, text second => text (first ++ second)
  | _, _ => ofPoints (a.points ++ b.points)

instance : Append Spelling := ⟨append⟩

/-- A spelling in quotation marks. -/
def quoted (spelling : Spelling) : String :=
  Text.quotedPoints spelling.points

@[simp]
theorem points_ofPoints (codes : List Nat) : (ofPoints codes).points = codes := by
  unfold ofPoints
  split
  · exact Text.points_of_ofPoints? (by assumption)
  · rfl

theorem ofPoints_of_unspelled {codes : List Nat} (unspelled : Text.ofPoints? codes = none) :
    ofPoints codes = broken codes unspelled := by
  unfold ofPoints
  split <;> simp_all

@[simp]
theorem ofPoints_points (spelling : Spelling) : ofPoints spelling.points = spelling := by
  cases spelling with
  | text value =>
    have spelled : Text.ofPoints? (text value).points = some value := Text.ofPoints?_points value
    unfold ofPoints
    split <;> simp_all
  | broken codes unspelled =>
    unfold ofPoints
    split <;> simp_all [points]

/-- A spelling is known by its code points. -/
theorem points_inj {a b : Spelling} : a.points = b.points ↔ a = b := by
  constructor
  · intro same
    rw [← ofPoints_points a, same, ofPoints_points]
  · rintro rfl
    rfl

end Spelling

end VeiledPool
