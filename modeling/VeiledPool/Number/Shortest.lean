/-! # Shortest decimals of binary fractions

`shortest?` gives the decimal with the fewest digits that reads back as the
same binary64 value, and of those the nearest one. It works on the exact value
`significand * 2 ^ exponent` in natural numbers: the two neighbours of the value
on ever finer decimal grids are tried until one lies among the numbers that
round to the value.
-/

namespace VeiledPool

/-- The decimal number `digits * 10 ^ exponent`. -/
structure Decimal10 where
  digits : Nat
  exponent : Int
  deriving DecidableEq, Repr

/-- The exact positive value `significand * 2 ^ exponent` of a binary64 number. -/
structure Binary64 where
  significand : Nat
  exponent : Int
  /-- The neighbour below is half as far away as the neighbour above. -/
  narrow : Bool
  deriving DecidableEq, Repr

namespace Binary64

/-- Value of the magnitude bits of a finite number. -/
def ofBits (bits : UInt64) : Binary64 :=
  let biased := ((bits >>> 52) &&& 0x7ff).toNat
  let fraction := (bits &&& 0xfffffffffffff).toNat
  if biased = 0 then ⟨fraction, -1074, false⟩
  else ⟨0x10000000000000 + fraction, (biased : Int) - 1075, fraction = 0 && biased > 1⟩

/-- The value in units of `10 ^ grid`, as a fraction. -/
def scaled (x : Binary64) (grid : Int) : Nat × Nat :=
  (x.significand * Nat.pow 2 x.exponent.toNat * Nat.pow 10 (-grid).toNat,
    Nat.pow 2 (-x.exponent).toNat * Nat.pow 10 grid.toNat)

/-- Whether `digits * 10 ^ grid` rounds to the value: it lies between the
    midpoints to both neighbours, ends included for an even significand. -/
def readsBack (x : Binary64) (grid : Int) (digits : Nat) : Bool :=
  let candidate := digits * (x.scaled grid).2 * 4
  let step := Nat.pow 2 x.exponent.toNat * Nat.pow 10 (-grid).toNat
  let low := (4 * x.significand - if x.narrow then 1 else 2) * step
  let high := (4 * x.significand + 2) * step
  if x.significand % 2 = 0 then low ≤ candidate && candidate ≤ high
  else low < candidate && candidate < high

/-- The better of the two grid neighbours that read back; a tie goes to the even
    one. -/
def nearest? (x : Binary64) (grid : Int) : Option Nat :=
  let (numerator, denominator) := x.scaled grid
  let below := numerator / denominator
  match x.readsBack grid below, x.readsBack grid (below + 1) with
  | false, false => none
  | true, false => some below
  | false, true => some (below + 1)
  | true, true =>
    match compare (2 * numerator) ((2 * below + 1) * denominator) with
    | .lt => some below
    | .gt => some (below + 1)
    | .eq => some (if below % 2 = 0 then below else below + 1)

/-- Least power of ten above the value, found near its binary logarithm. -/
def magnitude (x : Binary64) : Int :=
  let guess := ((x.significand.log2 : Int) + x.exponent) * 30103 / 100000
  let above (power : Int) : Bool := (x.scaled power).1 < (x.scaled power).2
  ([guess - 1, guess, guess + 1].find? above).getD (guess + 2)

/-- Moves the zeros at the end of a number into its exponent. -/
def stripZeros (digits : Nat) (exponent : Int) : Decimal10 :=
  if h : digits ≠ 0 ∧ digits % 10 = 0 then stripZeros (digits / 10) (exponent + 1)
  else ⟨digits, exponent⟩
termination_by digits
decreasing_by omega

/-- The shortest decimal that reads back; seventeen digits always suffice. -/
def shortest? (x : Binary64) : Option Decimal10 :=
  (List.range 17).findSome? fun count =>
    let grid := x.magnitude - (count + 1 : Nat)
    (x.nearest? grid).map fun digits => stripZeros digits grid

end Binary64

end VeiledPool
